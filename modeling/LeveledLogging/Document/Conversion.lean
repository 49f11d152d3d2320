import LeveledLogging.Document
import LeveledLogging.Fields
import LeveledLogging.Level
import LeveledLogging.Name
/-!
Documents of other data, and values of a type taken from documents. A reader accepts one kind of
document, and reports any other with what it expected.
-/
namespace LeveledLogging

namespace Document

def ofFloat (x : Binary64) : Document := if x.isFinite then float x else null

def ofValue : Value → Document
  | .text s => text s
  | .integer n => integer n.toInt
  | .float x => ofFloat x
  | .boolean b => boolean b
  | .bytes bs => list (bs.map fun b => integer b.toNat)

def ofFields (fields : Fields) : Document :=
  list (fields.pairs.map fun (key, value) => list [text key, ofValue value])

def ofLevel (level : Level) : Document := text level.word

def ofLevels (levels : LevelTable) : Document := object (levels.entries.mapValues ofLevel)

def ofName (name : LoggerName) : Document := text name.dotted

def expected (what : String) (document : Document) {α : Type} : Except DecodeFault α :=
  .error (.wrongKind document.kind what)

def asInteger (lo hi : Int) (what : String) : Document → Except DecodeFault Int
  | integer n =>
    if lo ≤ n ∧ n ≤ hi then .ok n else .error (.outOfRange (integer n).kind what)
  | document => expected what document

def asInt32 (document : Document) : Except DecodeFault Int32 :=
  return Int32.ofInt (← document.asInteger Int32.minValue.toInt Int32.maxValue.toInt "i32")

def asInt64 (document : Document) : Except DecodeFault Int64 :=
  return Int64.ofInt (← document.asInteger Int64.minValue.toInt Int64.maxValue.toInt "i64")

def asUInt8 (document : Document) : Except DecodeFault UInt8 :=
  return UInt8.ofNat (← document.asInteger 0 255 "u8").toNat

def asBoolean : Document → Except DecodeFault Bool
  | boolean b => .ok b
  | document => expected "a boolean" document

def asFloat : Document → Except DecodeFault Binary64
  | float x => .ok x
  | integer n => .ok (Binary64.ofInt n)
  | document => expected "f64" document

def asText : Document → Except DecodeFault String
  | text s => .ok s
  | document => expected "a string" document

def asPath : Document → Except DecodeFault String
  | text s => .ok s
  | document => expected "path string" document

def asTexts : Document → Except DecodeFault (List String)
  | list items => items.mapM asText
  | document => expected "a sequence" document

def asOptional {α : Type} (read : Document → Except DecodeFault α) :
    Document → Except DecodeFault (Option α)
  | null => .ok none
  | document => some <$> read document

/- One of a list of words, as a text or as the only key of an object over null. -/
def asWord {α : Type} (words : List (String × α)) : Document → Except DecodeFault α
  | text s => find s
  | object [(s, payload)] => do
    let value ← find s
    match payload with
    | null => return value
    | payload => expected "unit" payload
  | object members => .error (.outOfRange (object members).kind "map with a single key")
  | document => expected "string or map" document
where
  find (s : String) : Except DecodeFault α :=
    match words.lookup s with
    | some value => .ok value
    | none => .error (.unknownWord s (words.map Prod.fst))

def asLevel : Document → Except DecodeFault Level :=
  asWord (Level.all.map fun level => (level.word, level))

def asName (document : Document) : Except DecodeFault LoggerName := do
  match LoggerName.read (← document.asText) with
  | .ok name => return name
  | .error e => throw (.refused e.message)

def asLevels : Document → Except DecodeFault LevelTable
  | object members => do
    return Table.ofList (← members.mapM fun (key, level) => return (key, ← level.asLevel))
  | document => expected "a map" document

end Document

namespace OrderedDocument

def ofFloat (x : Binary64) : OrderedDocument := if x.isFinite then float x else null

def ofLevels (levels : LevelTable) : OrderedDocument where
  document := .ofLevels levels
  ordered := by
    refine .object (levels.ascending.mapValues _) ?_
    intro pair inside
    obtain ⟨given, _, rfl⟩ := List.mem_map.mp inside
    exact .text _

end OrderedDocument

end LeveledLogging
