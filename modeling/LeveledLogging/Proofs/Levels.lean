import LeveledLogging.Command.Run
import LeveledLogging.Proofs.Inheritance
import LeveledLogging.Proofs.Loading
import LeveledLogging.Proofs.Operations
/-! The levels that settings come to. The overrides are set after the level of the root, one by one;
what holds for a name then is the override of its nearest prefix that has one, or else the level of
the verbosity (`levelOfInherits`). -/
namespace LeveledLogging

namespace Settings

def levelOf (settings : Settings) (name : LoggerName) : Level :=
  (nearest (fun p => settings.levels.find? (LoggerName.dots p)) name.segments).getD
    settings.rootLevel

theorem levelOfInherits (settings : Settings) (name : LoggerName) :
    Inherits (fun p => settings.levels.find? (LoggerName.dots p)) settings.rootLevel name.segments
      (settings.levelOf name) :=
  inheritsNearest.mpr rfl

def history (settings : Settings) (overrides : List (LoggerName × Level)) :
    List (List String × Level) :=
  ([], settings.rootLevel) :: overrides.map fun setting => (setting.1.segments, setting.2)

theorem lastOfOverrides (overrides : List (LoggerName × Level)) {p : List String}
    (valid : ∀ segment ∈ p, IsSegment segment) :
    lastOf (overrides.map fun setting => (setting.1.segments, setting.2)) p =
      lastOf (overrides.map fun setting => (setting.1.dotted, setting.2)) (LoggerName.dots p) := by
  induction overrides with
  | nil => rfl
  | cons setting rest ih =>
    have same : setting.1.dotted = LoggerName.dots p ↔ setting.1.segments = p :=
      LoggerName.dotsInjective setting.1.valid valid
    simp only [List.map_cons, lastOf, ih, same]

theorem getHistory {settings : Settings} {overrides : List (LoggerName × Level)}
    (valid : settings.overrides = .ok overrides) (name : LoggerName) :
    (Hierarchy.setAll .empty (settings.history overrides)).get name.segments =
      settings.levelOf name := by
  have own : ∀ p, p <+: name.segments → lastOf (settings.history overrides) p =
      (settings.levels.find? (LoggerName.dots p)).or
        (if [] = p then some settings.rootLevel else none) := by
    intro p isAbove
    rw [history, lastOf, lastOfOverrides overrides (LoggerName.validAbove isAbove),
      ← overridesIff.mp valid, Entries.lastOfDistinct settings.ascending.nodup]
  rw [Hierarchy.getInherits, Hierarchy.configuredAtHistory, inheritsNearest, nearestCongr own,
    nearestRooted]
  unfold levelOf
  cases nearest (fun p => settings.levels.find? (LoggerName.dots p)) name.segments <;> rfl

end Settings

namespace Command

theorem levelsOfHistory {settings : Settings} {overrides : List (LoggerName × Level)}
    (valid : settings.overrides = .ok overrides) :
    levelsOf settings = .ok (Hierarchy.setAll .empty (settings.history overrides)) := by
  have sound : Context.Sound ⟨⟨.empty, .lines .discard false⟩, .start ⟨[], []⟩⟩ := trivial
  unfold levelsOf Context.applyLevels
  rw [valid]
  dsimp only
  rw [Context.setLevelSound sound, Context.setLevelsSound]
  · rfl
  · exact sound

end Command

end LeveledLogging
