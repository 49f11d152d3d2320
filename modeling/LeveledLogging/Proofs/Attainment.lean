import LeveledLogging.Proofs.Ceiling
import LeveledLogging.Proofs.Inspection
/-! The most verbose level that is in force for some name. It is that of the root or of an override.
The maximum of the settings is larger than that exactly when the root has an override and all overrides
lie below the level of the verbosity, which then holds nowhere (`mostVerboseInForce`). -/
namespace LeveledLogging

namespace Level

theorem leAntisymm {a b : Level} (below : a ≤ b) (above : b ≤ a) : a = b :=
  rankInjective (Nat.le_antisymm (leIff.mp below) (leIff.mp above))

theorem maxCases (a b : Level) : max a b = a ∨ max a b = b := by
  change (if a ≤ b then b else a) = a ∨ (if a ≤ b then b else a) = b
  split
  · exact .inr rfl
  · exact .inl rfl

end Level

theorem Inherits.ofOwn {own : List String → Option Level} {otherwise level : Level}
    {name : List String} (found : own name = some level) : Inherits own otherwise name level := by
  refine .above (List.prefix_refl name) found ?_
  intro q isAbove longer
  exact absurd isAbove.length_le (Nat.not_le_of_lt longer)

namespace Settings

theorem foldMaxAttained (levels : List (String × Level)) (start : Level) :
    levels.foldl (fun most (_, level) => max most level) start = start ∨
      ∃ pair ∈ levels, levels.foldl (fun most (_, level) => max most level) start = pair.2 := by
  induction levels generalizing start with
  | nil => exact .inl rfl
  | cons head rest ih =>
    rw [List.foldl_cons]
    rcases ih (max start head.2) with first | ⟨pair, inside, same⟩
    · rw [first]
      rcases Level.maxCases start head.2 with before | here
      · exact .inl before
      · exact .inr ⟨head, List.mem_cons_self, here⟩
    · exact .inr ⟨pair, List.mem_cons_of_mem _ inside, same⟩

def mostInForce (settings : Settings) : Level :=
  settings.levels.foldl (fun most (_, level) => max most level) settings.ownRoot

theorem maxLevelAbove (settings : Settings) :
    settings.rootLevel ≤ settings.maxLevel ∧ ∀ pair ∈ settings.levels, pair.2 ≤ settings.maxLevel :=
  foldMax settings.levels settings.rootLevel

theorem maxLevelCases (settings : Settings) :
    settings.maxLevel = settings.rootLevel ∨ ∃ pair ∈ settings.levels, settings.maxLevel = pair.2 :=
  foldMaxAttained settings.levels settings.rootLevel

theorem mostInForceAbove (settings : Settings) :
    settings.ownRoot ≤ settings.mostInForce ∧
      ∀ pair ∈ settings.levels, pair.2 ≤ settings.mostInForce :=
  foldMax settings.levels settings.ownRoot

theorem mostInForceCases (settings : Settings) :
    settings.mostInForce = settings.ownRoot ∨
      ∃ pair ∈ settings.levels, settings.mostInForce = pair.2 :=
  foldMaxAttained settings.levels settings.ownRoot

theorem ownRootCases (settings : Settings) :
    settings.levels.find? "" = none ∧ settings.ownRoot = settings.rootLevel ∨
      ("", settings.ownRoot) ∈ settings.levels := by
  unfold ownRoot
  cases found : settings.levels.find? "" with
  | none => exact .inl ⟨rfl, rfl⟩
  | some own => exact .inr (Entries.findSomeMember found)

theorem mostInForceBelow (settings : Settings) : settings.mostInForce ≤ settings.maxLevel := by
  obtain ⟨root, each⟩ := settings.maxLevelAbove
  rcases settings.mostInForceCases with first | ⟨pair, inside, found⟩
  · rw [first]
    rcases settings.ownRootCases with ⟨_, plain⟩ | inside
    · rwa [plain]
    · exact each _ inside
  · rw [found]
    exact each pair inside

theorem maxLevelInForce (settings : Settings) :
    settings.maxLevel = settings.mostInForce ↔
      settings.levels.find? "" = none ∨ ∃ pair ∈ settings.levels, settings.rootLevel ≤ pair.2 := by
  obtain ⟨own, each⟩ := settings.mostInForceAbove
  constructor
  · intro same
    have root := settings.maxLevelAbove.1
    rw [same] at root
    rcases settings.mostInForceCases with first | ⟨pair, inside, found⟩
    · rcases settings.ownRootCases with ⟨absent, _⟩ | inside
      · exact .inl absent
      · exact .inr ⟨_, inside, first ▸ root⟩
    · exact .inr ⟨pair, inside, found ▸ root⟩
  · intro shown
    have covered : settings.rootLevel ≤ settings.mostInForce := by
      rcases shown with absent | ⟨pair, inside, above⟩
      · rcases settings.ownRootCases with ⟨_, plain⟩ | inside
        · rwa [← plain]
        · exact absurd (List.mem_map_of_mem inside) (Entries.findNone.mp absent)
      · exact Level.leTrans above (each pair inside)
    refine Level.leAntisymm ?_ settings.mostInForceBelow
    rcases settings.maxLevelCases with first | ⟨pair, inside, found⟩
    · rwa [first]
    · rw [found]
      exact each pair inside

section
variable {settings : Settings} {overrides : List (LoggerName × Level)}
variable (valid : settings.overrides = .ok overrides)

include valid

theorem inForceBound (name : List String) :
    (Hierarchy.setAll .empty (settings.history overrides)).get name ≤ settings.mostInForce := by
  obtain ⟨root, each⟩ := settings.mostInForceAbove
  have inherits := Hierarchy.getInherits.mp
    (rfl : (Hierarchy.setAll .empty (settings.history overrides)).get name = _)
  generalize (Hierarchy.setAll .empty (settings.history overrides)).get name = level at inherits ⊢
  cases inherits with
  | nowhere _ => exact Level.offLe _
  | @above p _ _ found _ =>
    by_cases isRoot : p = []
    · rw [isRoot, rootOfHistory valid] at found
      cases found
      exact root
    · rw [configuredLaidOver valid, laidOver, if_neg isRoot, Hierarchy.configuredAtEmpty,
        Option.or_none] at found
      obtain ⟨_, _, inside⟩ := ownIff.mp found
      exact each _ inside

theorem inForceAttained : ∃ name : LoggerName,
    (Hierarchy.setAll .empty (settings.history overrides)).get name.segments =
      settings.mostInForce := by
  have given : ∀ {name : LoggerName} {level : Level}, (name.dotted, level) ∈ settings.levels →
      (Hierarchy.setAll .empty (settings.history overrides)).get name.segments = level := by
    intro name level inside
    have own : settings.own name.segments = some level := ownIff.mpr ⟨name, rfl, inside⟩
    refine Hierarchy.getInherits.mpr (.ofOwn ?_)
    rw [configuredLaidOver valid, laidOver, own, Option.some_or]
  rcases settings.mostInForceCases with first | ⟨pair, inside, found⟩
  · refine ⟨.root, ?_⟩
    rw [first]
    exact Hierarchy.getInherits.mpr (.ofOwn (rootOfHistory valid))
  · have listed := inside
    rw [overridesIff.mp valid] at listed
    obtain ⟨setting, _, rfl⟩ := List.mem_map.mp listed
    refine ⟨setting.1, ?_⟩
    rw [found]
    exact given inside

end

end Settings

namespace Context

theorem mostVerboseInForce {context : Context} (fresh : context.Fresh) {settings : Settings}
    (named : settings.WellNamed) :
    ∃ leveled, context.applyLevels settings = (.ok (), leveled) ∧
      (∀ name, leveled.level name ≤ settings.mostInForce) ∧
      (∃ name : LoggerName, leveled.level name.segments = settings.mostInForce) ∧
      settings.mostInForce ≤ settings.maxLevel ∧
      ((∃ name : LoggerName, leveled.level name.segments = settings.maxLevel) ↔
        settings.levels.find? "" = none ∨
          ∃ pair ∈ settings.levels, settings.rootLevel ≤ pair.2) := by
  obtain ⟨overrides, valid⟩ := Settings.overridesOk named
  obtain ⟨leveled, done, _, laid⟩ := applyLevelsHistory fresh.2 valid
  rw [fresh.1] at laid
  have bound : ∀ name, leveled.level name ≤ settings.mostInForce := by
    intro name
    rw [Context.level, laid]
    exact Settings.inForceBound valid name
  have attained : ∃ name : LoggerName, leveled.level name.segments = settings.mostInForce := by
    obtain ⟨name, same⟩ := Settings.inForceAttained valid
    exact ⟨name, by rw [Context.level, laid, same]⟩
  refine ⟨leveled, done, bound, attained, settings.mostInForceBelow, ?_⟩
  rw [← settings.maxLevelInForce]
  constructor
  · rintro ⟨name, same⟩
    exact Level.leAntisymm (same ▸ bound name.segments) settings.mostInForceBelow
  · intro same
    rw [same]
    exact attained

theorem overrideInForce :
    let context : Context := ⟨⟨.empty, .events⟩, .start ⟨[], []⟩⟩
    let settings : Settings := ⟨1, none, false, .full, ⟨[("", .error), ("db", .debug)], by decide⟩⟩
    context.Fresh ∧ settings.WellNamed ∧ settings.maxLevel = .debug ∧
      ∃ leveled, context.applyLevels settings = (.ok (), leveled) ∧
        ∃ name : LoggerName, leveled.level name.segments = .debug := by
  intro context settings
  have fresh : context.Fresh := ⟨rfl, trivial⟩
  have named : settings.WellNamed := by
    intro key inside
    rcases List.mem_pair.mp inside with rfl | rfl
    · exact ⟨_, LoggerName.readDotted .root⟩
    · exact ⟨_, LoggerName.readDotted ⟨["db"], by decide⟩⟩
  obtain ⟨leveled, done, _, _, _, attained⟩ := mostVerboseInForce fresh named
  have listed : ("db", Level.debug) ∈ settings.levels := by decide
  exact ⟨fresh, named, rfl, leveled, done, attained.mpr (.inr ⟨_, listed, by decide⟩)⟩

/- An override of the root below the verbosity leaves no name at the maximum. -/
theorem verbosityNowhere :
    let context : Context := ⟨⟨.empty, .events⟩, .start ⟨[], []⟩⟩
    let settings : Settings := ⟨2, none, false, .full, ⟨[("", .error)], by decide⟩⟩
    let leveled := (context.applyLevels settings).2
    (context.applyLevels settings).1 = .ok () ∧ settings.maxLevel = .debug ∧
      (∀ name, leveled.level name = .error) ∧ ¬ ∃ name, leveled.level name = settings.maxLevel := by
  intro context settings leveled
  have everywhere : ∀ name, leveled.level name = .error := by
    intro name
    cases name <;> rfl
  refine ⟨rfl, rfl, everywhere, ?_⟩
  rintro ⟨name, same⟩
  rw [everywhere] at same
  contradiction

end Context

end LeveledLogging
