import LeveledLogging.Fields
import LeveledLogging.Level
import LeveledLogging.Moment
import LeveledLogging.Name
import LeveledLogging.Text.Quoted
/-!
A message ready to be rendered on one line. Four keys go to places of their own; every other value is
kept as text, in the order in which it was set, repetitions included.
-/
namespace LeveledLogging

structure Record where
  scope : String
  text : String
  values : List (String × String)
  file : String
  line : Option Int64
  deriving DecidableEq, Repr

namespace Record

def empty : Record := ⟨"", "", [], "", none⟩

def set (record : Record) (key : String) (value : Value) : Record :=
  if key = messageKey then { record with text := value.display }
  else if key = scopeKey then { record with scope := value.display }
  else if key = fileKey then { record with file := value.display }
  else if key = lineKey then { record with line := value.integer? }
  else { record with values := record.values ++ [(key, value.display)] }

def setAll (record : Record) (pairs : List (String × Value)) : Record :=
  pairs.foldl (fun r (k, v) => r.set k v) record

def ofPairs (pairs : List (String × Value)) : Record := empty.setAll pairs

def oneLine (s : String) : String :=
  String.ofList (s.toList.map fun c => if c = '\n' then '¶' else c)

def label (record : Record) (name : List String) : String :=
  if name = [] ∧ record.scope = "" then ""
  else "[" ++ LoggerName.dots name ++ (if record.scope = "" then "" else ":" ++ record.scope) ++ "]"

def pairText (pair : String × String) : String := pair.1 ++ "=" ++ Text.quote pair.2

def bracedText (pairs : List (String × String)) : String :=
  if pairs = [] then "" else "\x7b" ++ Text.join ' ' (pairs.map pairText) ++ "\x7d"

def originPairs (record : Record) : List (String × String) :=
  if record.file = "" then []
  else (fileKey, record.file) ::
    (record.line.toList.map fun line => (lineKey, Text.integer line.toInt))

def valuesText (record : Record) : String := bracedText record.values

def valuesTextWithOrigin (record : Record) : String :=
  if record.values = [] then "" else bracedText (record.values ++ record.originPairs)

def origin (record : Record) : String :=
  if record.file = "" then ""
  else match record.line with
    | some line => record.file ++ ":" ++ Text.integer line.toInt
    | none => record.file

def display (record : Record) : String :=
  let values := record.valuesTextWithOrigin
  oneLine (record.text ++ (if values ≠ "" ∧ record.text ≠ "" then " " else "") ++ values)

def displayUnder (record : Record) (name : List String) : String :=
  let label := record.label name
  if label = "" then record.display else label ++ " " ++ record.display

def rightAligned (width : Nat) (s : String) : String :=
  String.ofList (List.replicate (width - s.toList.length) ' ') ++ s

def spaced (s : String) : String := if s = "" then "" else " " ++ s

/- The line of the record in a log, with its line end. With `trace` a second line gives the place of
origin, if it is known. -/
def logLine (record : Record) (now : Moment) (name : List String) (level : Level) (trace : Bool) :
    String :=
  now.localText ++ rightAligned 6 level.tag ++ spaced (record.label name) ++
    spaced (oneLine record.text) ++ spaced record.valuesText ++
    (if trace ∧ record.origin ≠ "" then "\n└─" ++ record.origin else "") ++ "\n"

def describe (record : Record) : String :=
  let pair (p : String × String) := "(" ++ Text.quote p.1 ++ ", " ++ Text.quote p.2 ++ ")"
  let line := match record.line with
    | some line => "Some(" ++ Text.integer line.toInt ++ ")"
    | none => "None"
  "LinearMessage \x7b scope: " ++ Text.quote record.scope ++ ", message: " ++
    Text.quote record.text ++ ", values: [" ++ String.intercalate ", " (record.values.map pair) ++
    "], file: " ++ Text.quote record.file ++ ", line: " ++ line ++ " \x7d"

end Record

end LeveledLogging
