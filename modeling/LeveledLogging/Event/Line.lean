import LeveledLogging.Outputs
/-!
The lines that events are written as: the messages of loggers, and the diagnostics of the program.
Controls in the text of a message are spelled out, so that a line has no effect on a terminal.
-/
namespace LeveledLogging

namespace Event

def isSpelledOut (c : Char) : Bool :=
  c = '\x07' || c = '\x08' || c = '\x0c' || c = '\x1b' || c = '\x7f' ||
    (0x80 ≤ c.toNat && c.toNat ≤ 0x9F)

def spellOut (c : Char) : List Char :=
  if !isSpelledOut c then [c]
  else if c.toNat < 0x80 then
    '\\' :: 'x' :: Nat.digitChar (c.toNat / 16) :: [Nat.digitChar (c.toNat % 16)]
  else '\\' :: 'u' :: '\x7b' :: Text.hexDigits c.toNat ++ ['\x7d']

def harmless (s : String) : String := String.ofList (s.toList.flatMap spellOut)

def lineText : Option Int64 → String
  | some line => "Some(" ++ Text.integer line.toInt ++ ")"
  | none => "None"

def front (now : Moment) (site : Option String) (severity : Severity) (subject : Subject) : String :=
  let place := match site with
    | some site => site ++ ": "
    | none => ""
  now.universalText ++ " " ++ Record.rightAligned 5 severity.title ++ " " ++ subject.target ++ ": " ++
    place

def line (now : Moment) (site : Option String) (severity : Severity) (logger : String)
    (record : Record) : String :=
  front now site severity .message ++ harmless record.text ++ " logger=" ++ logger ++ " scope=" ++
    record.scope ++ " values=" ++ record.valuesText ++ " file=" ++ record.file ++ " line=" ++
    lineText record.line ++ "\n"

end Event

inductive Diagnostic where
  | configured (verbosity : Int32) (path : Option String) (level : Level)
  | pathIgnored (path : String)
  | filtered (name : String) (level : Level)
  deriving DecidableEq, Repr

namespace Diagnostic

def subject : Diagnostic → Subject
  | configured .. => .configured
  | pathIgnored _ => .pathIgnored
  | filtered .. => .filtered

def pathText : Option String → String
  | some path => "Some(" ++ Text.quote path ++ ")"
  | none => "None"

def text : Diagnostic → String
  | configured verbosity path level =>
    "Configured simple log backend verbosity=" ++ Text.integer verbosity.toInt ++ " path=" ++
      pathText path ++ " level=" ++ level.title
  | pathIgnored path =>
    "Tracing backend ignores the log path; configure the subscriber instead path=" ++
      pathText (some path)
  | filtered name level => "Message filtered logger=" ++ name ++ " level=" ++ level.title

def severity : Severity := .debug

def line (now : Moment) (site : Option String) (diagnostic : Diagnostic) : String :=
  Event.front now site severity diagnostic.subject ++ diagnostic.text ++ "\n"

end Diagnostic

end LeveledLogging
