import LeveledLogging.Settings
import LeveledLogging.Text.Lowercase
/-!
Severities of events and the filters that let them pass. Several levels of messages share a severity,
and a message of level off has none. The filter of some settings lets every event pass whose level
the settings allow under any name; the user may ask for another one, which can tell the messages of
loggers from the diagnostics of the program.
-/
namespace LeveledLogging

inductive Severity where
  | error
  | warning
  | info
  | debug
  | trace
  deriving DecidableEq, Repr

namespace Severity

def rank : Severity → Nat
  | .error => 1
  | .warning => 2
  | .info => 3
  | .debug => 4
  | .trace => 5

def title : Severity → String
  | .error => "ERROR"
  | .warning => "WARN"
  | .info => "INFO"
  | .debug => "DEBUG"
  | .trace => "TRACE"

end Severity

def Level.severity : Level → Option Severity
  | .off => none
  | .critical => some .error
  | .error => some .error
  | .warning => some .warning
  | .notice => some .info
  | .info => some .info
  | .debug => some .debug

theorem Level.severityNone {level : Level} : level.severity = none ↔ level = .off := by
  cases level <;> simp [severity]

inductive Subject where
  | message
  | configured
  | pathIgnored
  | filtered
  deriving DecidableEq, Repr

namespace Subject

def target : Subject → String
  | .message => "commonlog"
  | .configured => "commonlog_core::backend::simple"
  | .pathIgnored => "commonlog_core::backend::tracing_adapter"
  | .filtered => "commonlog::commands::emit"

end Subject

structure EventFilter where
  least : Option Severity
  deriving DecidableEq, Repr

namespace EventFilter

def passes (filter : EventFilter) (severity : Severity) : Bool :=
  filter.least.any fun least => severity.rank ≤ least.rank

def ofLevel (level : Level) : EventFilter := ⟨level.severity⟩

def ofSettings (settings : Settings) : EventFilter := ofLevel settings.maxLevel

def word (filter : EventFilter) : String :=
  match filter.least with
  | none => "off"
  | some .error => "error"
  | some .warning => "warn"
  | some .info => "info"
  | some .debug => "debug"
  | some .trace => "trace"

def spellings : List (String × Option Severity) :=
  [("off", none), ("error", some .error), ("warn", some .warning), ("info", some .info),
    ("debug", some .debug), ("trace", some .trace), ("0", none), ("1", some .error),
    ("2", some .warning), ("3", some .info), ("4", some .debug), ("5", some .trace)]

def read (s : String) : Option EventFilter := mk <$> spellings.lookup (Text.lowercase s)

end EventFilter

structure SubjectFilter where
  passes : Subject → Severity → Bool

namespace SubjectFilter

def ofTargets (filters : List (String × EventFilter)) : SubjectFilter where
  passes subject severity :=
    let applying := filters.filter fun (start, _) =>
      start.toList.isPrefixOf subject.target.toList
    let nearest := applying.foldl (fun nearest next =>
      if nearest.1.length ≤ next.1.length then next else nearest) ("", ⟨none⟩)
    nearest.2.passes severity

def everywhere (filter : EventFilter) : SubjectFilter := ⟨fun _ => filter.passes⟩

def isTarget (s : String) : Bool :=
  s ≠ "" && s.toList.all fun c => c.isAlphanum || c = '_' || c = ':' || c = '-'

def readDirective (s : String) : Option (String × EventFilter) :=
  match EventFilter.read s, Text.cut '=' s with
  | some filter, _ => some ("", filter)
  | none, none => if isTarget s then some (s, ⟨some .trace⟩) else none
  | none, some (target, level) =>
    if isTarget target then (EventFilter.read level).map (target, ·) else none

/- A list of directives. One without any stands for errors. -/
def read (s : String) : Option SubjectFilter := do
  match ← ((Text.split ',' s).filter (· ≠ "")).mapM readDirective with
  | [] => return everywhere ⟨some .error⟩
  | filters => return ofTargets filters

def choose (asked : Option SubjectFilter) (settings : Settings) : SubjectFilter :=
  asked.getD (everywhere (.ofSettings settings))

end SubjectFilter

end LeveledLogging
