import LeveledLogging.Entries
import LeveledLogging.Error
import LeveledLogging.Text.Lowercase
import LeveledLogging.Text.Pieces
/-!
Severity levels, from the one that lets nothing pass to the most verbose. The order is the order of
ranks; `Level.ofVerbosity` is monotone (`ofVerbosityMono`), and the word of a level stands for it
(`ofWordWord`).
-/
namespace LeveledLogging

inductive Level where
  -- The maximum of a name under which nothing is logged; never the level of a message.
  | off
  | critical
  | error
  | warning
  | notice
  | info
  | debug
  deriving DecidableEq, Repr

namespace Level

instance : Inhabited Level := ⟨.off⟩

def all : List Level := [.off, .critical, .error, .warning, .notice, .info, .debug]

def rank : Level → Nat
  | .off => 0
  | .critical => 1
  | .error => 2
  | .warning => 3
  | .notice => 4
  | .info => 5
  | .debug => 6

instance : LE Level := ⟨fun a b => a.rank ≤ b.rank⟩
instance : LT Level := ⟨fun a b => a.rank < b.rank⟩
instance (a b : Level) : Decidable (a ≤ b) := inferInstanceAs (Decidable (a.rank ≤ b.rank))
instance (a b : Level) : Decidable (a < b) := inferInstanceAs (Decidable (a.rank < b.rank))
instance : Ord Level := ⟨fun a b => compare a.rank b.rank⟩
instance : Max Level := ⟨fun a b => if a ≤ b then b else a⟩
instance : Min Level := ⟨fun a b => if a ≤ b then a else b⟩

theorem leIff {a b : Level} : a ≤ b ↔ a.rank ≤ b.rank := Iff.rfl

theorem rankInjective {a b : Level} (h : a.rank = b.rank) : a = b := by
  cases a <;> cases b <;> first | rfl | cases h

theorem rankMax (a b : Level) : (max a b).rank = max a.rank b.rank := by
  show (if a ≤ b then b else a).rank = _
  split
  · rename_i h
    rw [Nat.max_eq_right (leIff.1 h)]
  · rename_i h
    rw [Nat.max_eq_left (Nat.le_of_lt (Nat.lt_of_not_le h))]

theorem offLe (a : Level) : off ≤ a := Nat.zero_le _

theorem allListed (a : Level) : a ∈ all := by cases a <;> simp [all]

def ofRank (n : Nat) : Except LogError Level :=
  match all[n]? with
  | some level => .ok level
  | none => .error (.validation (.ordinal n))

def ofVerbosity (v : Int) : Level :=
  if v < 0 then .off else if v = 0 then .notice else if v = 1 then .info else .debug

theorem ofVerbosityMono {a b : Int} (h : a ≤ b) : ofVerbosity a ≤ ofVerbosity b := by
  simp only [ofVerbosity, leIff]
  repeat' split
  all_goals first | omega | decide

theorem ofVerbosityOff {v : Int} : ofVerbosity v = off ↔ v < 0 := by
  unfold ofVerbosity
  split
  · simp_all
  · split
    · simp_all
    · split <;> simp_all

def isLoggable (a : Level) : Bool := a ≠ .off

def title : Level → String
  | .off => "None"
  | .critical => "Critical"
  | .error => "Error"
  | .warning => "Warning"
  | .notice => "Notice"
  | .info => "Info"
  | .debug => "Debug"

def word : Level → String
  | .off => "none"
  | .critical => "critical"
  | .error => "error"
  | .warning => "warning"
  | .notice => "notice"
  | .info => "info"
  | .debug => "debug"

def tag : Level → String
  | .off => ""
  | .critical => "CRIT"
  | .error => "ERROR"
  | .warning => "WARN"
  | .notice => "NOTE"
  | .info => "INFO"
  | .debug => "DEBUG"

def spellings : List (String × Level) :=
  [("none", .off), ("critical", .critical), ("crit", .critical), ("error", .error),
    ("err", .error), ("warning", .warning), ("warn", .warning), ("notice", .notice),
    ("note", .notice), ("info", .info), ("debug", .debug)]

def read (s : String) : Except LogError Level :=
  match spellings.lookup (Text.lowercase (Text.trim s)) with
  | some level => .ok level
  | none => .error (.validation (.level s))

def ofWord? (s : String) : Option Level := all.find? fun level => level.word = s

theorem ofWordWord (a : Level) : ofWord? a.word = some a := by cases a <;> decide

end Level

abbrev LevelTable := Table Level

end LeveledLogging
