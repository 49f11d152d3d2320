import LeveledLogging.Context
import LeveledLogging.Subscriber
import LeveledLogging.Proofs.Destinations
/-! Where the log goes once it is opened. A log file is found at its path afterwards, with what it held
before or empty, and no other file has changed. -/
namespace LeveledLogging

namespace FileSystem

structure Opens (before after : FileSystem) (path : String) (place : Place) : Prop where
  located : after.locate path = .ok place
  contents : ∀ p, after.content? p =
    if p = place then some ((before.content? place).getD .empty) else before.content? p

theorem openFileOpens {before after : FileSystem} {path : String} {place : Place}
    (opened : before.openFile path = .ok (place, after)) : before.Opens after path place where
  located := (openedKeepsWays opened).locate (openedFile opened).1
  contents := openedContent opened

theorem AddsDirectories.opens {before between after : FileSystem} {path : String} {place : Place}
    (adds : AddsDirectories before between) (opens : between.Opens after path place) :
    before.Opens after path place where
  located := opens.located
  contents p := by rw [opens.contents, adds.contents, adds.contents]

end FileSystem

def BackendKind.logPath : BackendKind → String → String
  | .simple, path => path
  | .tracing, path =>
    FilePath.join (Subscriber.directoryOf path) ((FilePath.fileName path).getD "")

inductive Opened (kind : BackendKind) (before after : FileSystem) : Option String → Sink → Prop where
  | nowhere {path} (same : after = before) : Opened kind before after path .discard
  | errors (same : after = before) : Opened kind before after none .errorStream
  | file {path place} (opens : before.Opens after (kind.logPath path) place) :
    Opened kind before after (some path) (.file place)

theorem Opened.isOpen {kind : BackendKind} {before after : FileSystem} {path : Option String}
    {sink : Sink} (opened : Opened kind before after path sink) {outputs : Outputs}
    (files : outputs.files = after) : outputs.Open sink ∧ sink ≠ .broken := by
  cases opened with
  | nowhere _ => exact ⟨trivial, by simp⟩
  | errors _ => exact ⟨trivial, by simp⟩
  | file opens =>
    refine ⟨?_, by simp⟩
    change (outputs.files.content? _).isSome
    rw [files, opens.contents, if_pos rfl]
    rfl

theorem Opened.contents {kind : BackendKind} {before after : FileSystem} {path : Option String}
    {sink : Sink} (opened : Opened kind before after path sink) {outputs : Outputs}
    (files : outputs.files = before) (other : Sink) :
    Outputs.contents { outputs with files := after } other =
      if other = sink ∧ other ≠ .discard then some ((outputs.contents other).getD .empty)
      else outputs.contents other := by
  cases opened with
  | nowhere same =>
    rw [if_neg fun both => both.2 both.1, same, ← files]
  | errors same =>
    rw [same, ← files]
    by_cases here : other = .errorStream
    · rw [here]
      rfl
    · rw [if_neg fun both => here both.1]
  | @file path place opens =>
    cases other with
    | file p =>
      have found := opens.contents p
      rw [← files] at found
      by_cases here : p = place
      · subst here
        rw [if_pos rfl] at found
        rw [if_pos ⟨rfl, by simp⟩]
        exact found
      · rw [if_neg here] at found
        rw [if_neg (by simp [here])]
        exact found
    | _ => rfl

theorem Context.openSinkOpened {before after : FileSystem} {root : Level} {path : Option String}
    {sink : Sink} (opened : openSink before root path = .ok (sink, after)) :
    Opened .simple before after path sink ∧ (sink = .discard ↔ root = .off) := by
  unfold openSink at opened
  split at opened
  · cases opened
    exact ⟨.nowhere rfl, by simp⟩
  · rename_i notOff
    cases opened
    exact ⟨.errors rfl, by simpa using notOff⟩
  · rename_i path notOff
    obtain ⟨⟨place, files⟩, found, made⟩ := bindOk.mp opened
    cases made
    exact ⟨.file (FileSystem.openFileOpens found), by simpa using notOff⟩

theorem Subscriber.openSinkOpened {before after : FileSystem} {path : Option String} {sink : Sink}
    (opened : openSink before path = (.ok sink, after)) :
    Opened .tracing before after path sink ∧ sink ≠ .discard := by
  unfold openSink at opened
  split at opened
  · cases opened
    exact ⟨.errors rfl, by simp⟩
  · rename_i path
    unfold openLogFile at opened
    split at opened
    · cases opened
    · rename_i name named
      have adds := before.makeLineageAdds (FilePath.ancestors (directoryOf path))
      dsimp only [FileSystem.makeDirectories] at opened
      split at opened
      · cases opened
      · rename_i between made
        rw [made] at adds
        split at opened
        · cases opened
        · rename_i place files found
          cases opened
          refine ⟨.file (adds.opens ?_), by simp⟩
          rw [BackendKind.logPath, named]
          exact FileSystem.openFileOpens found

end LeveledLogging
