import LeveledLogging.Event.Filter
import LeveledLogging.FileSystem
import LeveledLogging.Record
/-!
What leaves a log: bytes in files, on the error stream or in a writer supplied by the program, and
events. A `Sink` says where the lines of a backend go.
-/
namespace LeveledLogging

inductive BackendCall where
  | configure (verbosity : Int32) (path : Option String)
  | newMessage (name : List String) (level : Level) (depth : Nat)
  | setLevel (name : List String) (level : Level)
  | send (sets : List (String × Value))
  deriving DecidableEq, Repr

inductive Event where
  | message (severity : Severity) (logger : String) (record : Record)
  | warning (text : String)
  | formatted
  | called (call : BackendCall)
  deriving DecidableEq, Repr

@[ext]
structure Transcript where
  bytes : ByteArray

namespace Transcript

instance : DecidableEq Transcript := fun a b =>
  match ByteArray.instDecidableEq a.bytes b.bytes with
  | .isTrue h => .isTrue (Transcript.ext h)
  | .isFalse h => .isFalse fun e => h (congrArg bytes e)

def ofText (s : String) : Transcript := ⟨s.toUTF8⟩

def text (transcript : Transcript) : String := (String.fromUTF8? transcript.bytes).getD ""

def append (transcript : Transcript) (bytes : ByteArray) : Transcript := ⟨transcript.bytes ++ bytes⟩

instance : Coe String Transcript := ⟨ofText⟩

instance : Coe Transcript String := ⟨text⟩

end Transcript

structure Outputs where
  files : FileSystem
  errorText : Transcript
  suppliedText : Transcript
  events : List Event
  deriving DecidableEq

inductive Sink where
  | discard
  | errorStream
  | supplied
  -- A supplied writer that takes nothing.
  | broken
  | file (place : Place)
  deriving DecidableEq, Repr

namespace Outputs

def start (files : FileSystem) : Outputs := ⟨files, "", "", []⟩

def emit (outputs : Outputs) (event : Event) : Outputs :=
  { outputs with events := outputs.events ++ [event] }

def writeFault : IoFault := .described "disk full"

def flushFault : IoFault := .described "flush failed"

def offer (outputs : Outputs) (sink : Sink) (bytes : ByteArray) : Except IoFault Outputs :=
  match sink with
  | .discard => .ok outputs
  | .errorStream => .ok { outputs with errorText := outputs.errorText.append bytes }
  | .supplied => .ok { outputs with suppliedText := outputs.suppliedText.append bytes }
  | .broken => .error writeFault
  | .file place => .ok { outputs with files := outputs.files.append place bytes }

def writeBytes (outputs : Outputs) (sink : Sink) (bytes : ByteArray) : Except IoFault Outputs :=
  if bytes.size = 0 then .ok outputs else outputs.offer sink bytes

def write (outputs : Outputs) (sink : Sink) (s : String) : Except IoFault Outputs :=
  outputs.writeBytes sink s.toUTF8

def flush (sink : Sink) : Except IoFault Unit :=
  match sink with
  | .broken => .error flushFault
  | _ => .ok ()

/- A line written to a sink. A fault becomes a warning, and nothing else of it remains. -/
def writeLine (outputs : Outputs) (sink : Sink) (line : String) : Outputs :=
  match outputs.write sink line with
  | .ok outputs => outputs
  | .error fault => outputs.emit (.warning ("Failed to write log line: " ++ fault.message))

def release (outputs : Outputs) (sink : Sink) : Outputs :=
  match flush sink with
  | .ok () => outputs
  | .error fault =>
    outputs.emit (.warning ("Failed to flush previous log output: " ++ fault.message))

end Outputs

end LeveledLogging
