import LeveledLogging.Event.Line
/-!
The subscriber that writes events out: to the error stream, or to the end of a file. One is installed
for the whole program, and only once.
-/
namespace LeveledLogging

structure Subscriber where
  filter : SubjectFilter
  sink : Sink
  trace : Bool

namespace Subscriber

def directoryOf (path : String) : String :=
  match FilePath.parent path with
  | none => "."
  | some "" => "."
  | some parent => parent

def openLogFile (files : FileSystem) (path : String) : Except LogError Sink × FileSystem :=
  match FilePath.fileName path with
  | none => (.error (.config (.noFileName path)), files)
  | some name =>
    let directory := directoryOf path
    match files.makeDirectories directory with
    | (.error fault, files) => (.error (.io fault), files)
    | (.ok (), files) =>
      match files.openFile (FilePath.join directory name) with
      | .error fault => (.error (.config (.logFile path fault)), files)
      | .ok (place, files) => (.ok (.file place), files)

def openSink (files : FileSystem) (path : Option String) :
    Except LogError Sink × FileSystem :=
  match path with
  | none => (.ok .errorStream, files)
  | some path => openLogFile files path

def install (installed : Option Subscriber) (asked : Option SubjectFilter) (settings : Settings)
    (files : FileSystem) : Except LogError Subscriber × FileSystem :=
  match openSink files settings.path with
  | (.error e, files) => (.error e, files)
  | (.ok sink, files) =>
    match installed with
    | some _ => (.error (.config .subscriberInstalled), files)
    | none => (.ok ⟨.choose asked settings, sink, settings.trace⟩, files)

def shownSite (subscriber : Subscriber) (siteOf : Subject → String) (subject : Subject) :
    Option String :=
  if subscriber.trace then some (siteOf subject) else none

def write (subscriber : Subscriber) (now : Moment) (siteOf : Subject → String) (outputs : Outputs)
    (event : Event) : Outputs :=
  match event with
  | .message severity logger record =>
    if subscriber.filter.passes .message severity then
      outputs.writeLine subscriber.sink
        (Event.line now (subscriber.shownSite siteOf .message) severity logger record)
    else outputs
  | _ => outputs

def report (subscriber : Subscriber) (now : Moment) (siteOf : Subject → String) (outputs : Outputs)
    (diagnostic : Diagnostic) : Outputs :=
  if subscriber.filter.passes diagnostic.subject Diagnostic.severity then
    outputs.writeLine subscriber.sink
      (diagnostic.line now (subscriber.shownSite siteOf diagnostic.subject))
  else outputs

end Subscriber

end LeveledLogging
