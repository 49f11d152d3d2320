import LeveledLogging.Error
import LeveledLogging.FilePath
/-!
Files and directories by their place, a list of names from the root of the tree. Operations take
paths, which are walked from the root or from the working directory, and fail the way an operating
system does. Reading leaves the tree as it is: only the operations that return a tree can change it.
-/
namespace LeveledLogging

inductive FileNode where
  | directory
  | file (content : ByteArray)

instance : DecidableEq FileNode
  | .directory, .directory => .isTrue rfl
  | .directory, .file _ => .isFalse nofun
  | .file _, .directory => .isFalse nofun
  | .file a, .file b =>
    match ByteArray.instDecidableEq a b with
    | .isTrue h => .isTrue (h ▸ rfl)
    | .isFalse h => .isFalse fun e => h (FileNode.file.inj e)

abbrev Place := List String

structure FileSystem where
  nodes : List (Place × FileNode)
  workingDirectory : Place
  deriving DecidableEq

namespace FileSystem

def node? (fs : FileSystem) (place : Place) : Option FileNode :=
  if place = [] then some .directory else fs.nodes.lookup place

def put (fs : FileSystem) (place : Place) (node : FileNode) : FileSystem :=
  { fs with nodes := go fs.nodes }
where
  go : List (Place × FileNode) → List (Place × FileNode)
    | [] => [(place, node)]
    | (p, n) :: rest => if p = place then (p, node) :: rest else (p, n) :: go rest

def longestName : Nat := 255

def pathBound : Nat := 4096

def walk (fs : FileSystem) (place : Place) : List String → Except IoFault Place
  | [] => .ok place
  | name :: rest =>
    match fs.node? place with
    | none => .error .notFound
    | some (.file _) => .error .notDirectory
    | some .directory =>
      if name = "" ∨ name = "." then walk fs place rest
      else if name = ".." then walk fs place.dropLast rest
      else if longestName < name.utf8ByteSize then .error .nameTooLong
      else walk fs (place ++ [name]) rest

def asksDirectory (path : String) : Bool := path.toList.getLast? = some '/'

def names (path : String) : List String := (Text.split '/' path).filter (· ≠ "")

def locate (fs : FileSystem) (path : String) : Except IoFault Place :=
  if '\x00' ∈ path.toList then .error .nulInName
  else if path = "" then .error .notFound
  else if pathBound ≤ path.utf8ByteSize then .error .nameTooLong
  else fs.walk (if FilePath.isAbsolute path then [] else fs.workingDirectory) (names path)

def waypoints (place : Place) : List String → List Place
  | [] => []
  | name :: rest =>
    let next := if name = "." then place else if name = ".." then place.dropLast
      else place ++ [name]
    next :: waypoints next rest

def placesOf (workingDirectory : Place) (path : String) : List Place :=
  if FilePath.isAbsolute path then waypoints [] (names path)
  else waypoints [] (workingDirectory ++ names path)

def find (fs : FileSystem) (path : String) : Except IoFault FileNode := do
  match fs.node? (← fs.locate path) with
  | none => throw .notFound
  | some (.file content) =>
    if asksDirectory path then throw .notDirectory
    return .file content
  | some .directory => return .directory

def contains (fs : FileSystem) (path : String) : Bool :=
  match fs.find path with
  | .ok _ => true
  | .error _ => false

def isDirectory (fs : FileSystem) (path : String) : Bool :=
  match fs.find path with
  | .ok .directory => true
  | _ => false

def read (fs : FileSystem) (path : String) : Except IoFault ByteArray := do
  match ← fs.find path with
  | .directory => throw .isDirectory
  | .file content => return content

def readText (fs : FileSystem) (path : String) : Except IoFault String := do
  match String.fromUTF8? (← fs.read path) with
  | some s => return s
  | none => throw .notUtf8

def openFile (fs : FileSystem) (path : String) : Except IoFault (Place × FileSystem) := do
  let place ← fs.locate path
  if asksDirectory path then throw .isDirectory
  match fs.node? place with
  | some .directory => throw .isDirectory
  | some (.file _) => return (place, fs)
  | none => return (place, fs.put place (.file .empty))

def append (fs : FileSystem) (place : Place) (bytes : ByteArray) : FileSystem :=
  match fs.node? place with
  | some (.file content) => fs.put place (.file (content ++ bytes))
  | _ => fs

def write (fs : FileSystem) (path : String) (bytes : ByteArray) : Except IoFault FileSystem := do
  let (place, fs) ← fs.openFile path
  return fs.put place (.file bytes)

def makeDirectory (fs : FileSystem) (path : String) : Except IoFault FileSystem := do
  let place ← fs.locate path
  match fs.node? place with
  | some _ => throw .fileExists
  | none => return fs.put place .directory

def ensureDirectory (fs : FileSystem) (path : String) : Except IoFault Unit × FileSystem :=
  match fs.makeDirectory path with
  | .ok fs => (.ok (), fs)
  | .error fault => (if fs.isDirectory path then .ok () else .error fault, fs)

def makeLineage (fs : FileSystem) : List String → Except IoFault Unit × FileSystem
  | [] => (.ok (), fs)
  | path :: parents =>
    if path = "" then (.ok (), fs)
    else match fs.makeDirectory path with
      | .error .notFound =>
        match fs.makeLineage parents with
        | (.ok (), fs) => fs.ensureDirectory path
        | failed => failed
      | _ => fs.ensureDirectory path

/- Makes a directory and those above it that are missing. What was made stays, even if the last one
cannot be made. -/
def makeDirectories (fs : FileSystem) (path : String) : Except IoFault Unit × FileSystem :=
  fs.makeLineage (FilePath.ancestors path)

end FileSystem

end LeveledLogging
