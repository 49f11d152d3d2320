import LeveledLogging.Proofs.Levels
import Mathlib.Data.List.Nodup
/-! Settings laid over the levels that a backend has already. The settings decide for the names they
hold and for the root; every other name keeps what was set for it before. Configuring and setting the
levels alone come to the same, and the order of the overrides does not matter
(`settingsLaidOverLevels`). -/
namespace LeveledLogging

namespace Hierarchy

def Extends (tree after : Hierarchy) : Prop := ∃ settings, after = tree.setAll settings

theorem extendsSame (tree : Hierarchy) : tree.Extends tree := ⟨[], rfl⟩

theorem extendsSet (tree : Hierarchy) (name : List String) (level : Level) :
    tree.Extends (tree.set name level) := ⟨[(name, level)], rfl⟩

theorem Extends.trans {tree between after : Hierarchy} (first : tree.Extends between)
    (second : between.Extends after) : tree.Extends after := by
  obtain ⟨settings, rfl⟩ := first
  obtain ⟨more, rfl⟩ := second
  refine ⟨settings ++ more, ?_⟩
  rw [setAll, setAll, setAll, List.foldl_append]

end Hierarchy

namespace Context

theorem configureLevels {context : Context} (sound : context.Sound) (verbosity : Int32)
    (path : Option String) :
    ∃ result after, context.configure verbosity path = (result, after) ∧
      (result = .ok () →
        after.backend.levels = context.backend.levels.set [] (.ofVerbosity verbosity.toInt)) ∧
      (result ≠ .ok () → after = context) := by
  cases found : context.backend.output with
  | lines sink trace =>
    rw [configureLines found]
    split
    · exact ⟨_, _, rfl, by simp, by simp⟩
    · exact ⟨_, _, rfl, fun _ => rfl, by simp⟩
  | events =>
    rw [configureEvents found]
    exact ⟨_, _, rfl, fun _ => rfl, by simp⟩
  | calls refusing =>
    rw [Sound, found] at sound
    contradiction

theorem configureExtends {context : Context} (sound : context.Sound) (verbosity : Int32)
    (path : Option String) :
    context.backend.levels.Extends (context.configure verbosity path).2.backend.levels := by
  obtain ⟨result, after, done, succeeded, failed⟩ := configureLevels sound verbosity path
  rw [done]
  by_cases well : result = .ok ()
  · dsimp only
    rw [succeeded well]
    exact Hierarchy.extendsSet _ _ _
  · dsimp only
    rw [failed well]
    exact Hierarchy.extendsSame _

theorem setLevelsExtends {context : Context} (sound : context.Sound)
    (settings : List (LoggerName × Level)) :
    context.backend.levels.Extends (context.setLevels settings).backend.levels := by
  rw [setLevelsSound sound]
  exact ⟨_, rfl⟩

theorem applySettingsExtends {context : Context} (sound : context.Sound) (settings : Settings) :
    context.backend.levels.Extends (context.applySettings settings).2.backend.levels := by
  unfold applySettings
  split
  · exact Hierarchy.extendsSame _
  · rename_i overrides _
    have configured := configureExtends sound settings.verbosity settings.path
    have kept := configureSound sound settings.verbosity settings.path
    split
    · rename_i after same
      rw [same] at configured kept
      exact configured.trans (setLevelsExtends kept overrides)
    · exact configured

theorem applyLevelsExtends {context : Context} (sound : context.Sound) (settings : Settings) :
    context.backend.levels.Extends (context.applyLevels settings).2.backend.levels := by
  unfold applyLevels
  split
  · exact Hierarchy.extendsSame _
  · rename_i overrides _
    rw [setLevelSound sound]
    have rooted : (context.withLevel [] settings.rootLevel).Sound := sound
    exact (Hierarchy.extendsSet _ _ _).trans (setLevelsExtends rooted overrides)

theorem performExtends {context : Context} (sound : context.Sound) (operation : Operation) :
    context.backend.levels.Extends (context.perform operation).backend.levels := by
  cases operation with
  | configure verbosity path => exact configureExtends sound verbosity path
  | configureProgram verbosity path quiet => exact configureExtends sound _ path
  | applySettings settings => exact applySettingsExtends sound settings
  | applyLevels settings => exact applyLevelsExtends sound settings
  | setLevel name level =>
    rw [perform, setLevelSound sound]
    exact Hierarchy.extendsSet _ _ _
  | setLevelOf logger level =>
    rw [perform, setLevelOf]
    split
    · rw [setLevelSound sound]
      exact Hierarchy.extendsSet _ _ _
    · exact Hierarchy.extendsSame _
  | setTrace trace =>
    rw [perform, setTrace]
    split <;> exact Hierarchy.extendsSame _
  | send now message =>
    rw [perform, sendBackend]
    exact Hierarchy.extendsSame _
  | write insistent bytes =>
    rw [perform, writeBytesBackend]
    exact Hierarchy.extendsSame _
  | report event => exact Hierarchy.extendsSame _

theorem runExtends {context : Context} (sound : context.Sound) (operations : List Operation) :
    context.backend.levels.Extends (context.run operations).backend.levels := by
  induction operations generalizing context with
  | nil => exact Hierarchy.extendsSame _
  | cons operation rest ih =>
    exact (performExtends sound operation).trans (ih (performSound sound operation))

theorem Reachable.history {context : Context} (reachable : context.Reachable) :
    ∃ earlier, context.backend.levels = .setAll .empty earlier := by
  obtain ⟨start, operations, fresh, rfl⟩ := reachable
  rw [← fresh.1]
  exact runExtends fresh.2 operations

end Context

namespace Settings

def own (settings : Settings) (p : List String) : Option Level :=
  if ∀ segment ∈ p, IsSegment segment then settings.levels.find? (LoggerName.dots p) else none

theorem ownIff {settings : Settings} {p : List String} {level : Level} :
    settings.own p = some level ↔
      ∃ name : LoggerName, name.segments = p ∧ (name.dotted, level) ∈ settings.levels := by
  unfold own
  constructor
  · intro found
    split at found
    · rename_i valid
      exact ⟨⟨p, valid⟩, rfl, Entries.findSomeMember found⟩
    · contradiction
  · rintro ⟨name, rfl, inside⟩
    rw [if_pos name.valid]
    exact Entries.findMember settings.ascending.nodup inside

theorem segmentsDistinct {settings : Settings} {overrides : List (LoggerName × Level)}
    (valid : settings.overrides = .ok overrides) :
    ((overrides.map fun setting => (setting.1.segments, setting.2)).map Prod.fst).Nodup := by
  have dotted : (settings.levels.map Prod.fst).Nodup := settings.ascending.nodup
  rw [overridesIff.mp valid, List.map_map] at dotted
  rw [List.map_map]
  exact List.Nodup.of_map LoggerName.dots (by rwa [List.map_map])

theorem lastOfOwn {settings : Settings} {overrides : List (LoggerName × Level)}
    (valid : settings.overrides = .ok overrides) (p : List String) :
    lastOf (overrides.map fun setting => (setting.1.segments, setting.2)) p = settings.own p := by
  refine Option.ext fun level => ?_
  rw [lastOfUnique (segmentsDistinct valid), ownIff, overridesIff.mp valid]
  constructor
  · intro inside
    obtain ⟨setting, listed, same⟩ := List.mem_map.mp inside
    cases same
    exact ⟨setting.1, rfl, List.mem_map.mpr ⟨setting, listed, rfl⟩⟩
  · rintro ⟨name, rfl, inside⟩
    obtain ⟨setting, listed, same⟩ := List.mem_map.mp inside
    obtain ⟨sameText, rfl⟩ := Prod.mk.inj same
    have sameName := (LoggerName.dotsInjective setting.1.valid name.valid).mp sameText
    exact List.mem_map.mpr ⟨setting, listed, by rw [sameName]⟩

/- The table of levels after settings: a level of their own comes first, then that of the verbosity
for the root, and last what there was. -/
def laidOver (settings : Settings) (before : List String → Option Level) (p : List String) :
    Option Level :=
  (settings.own p).or (if p = [] then some settings.rootLevel else before p)

theorem configuredLaidOver {settings : Settings} {overrides : List (LoggerName × Level)}
    (valid : settings.overrides = .ok overrides) (tree : Hierarchy) (p : List String) :
    (tree.setAll (settings.history overrides)).configuredAt p =
      settings.laidOver (tree.configuredAt ·) p := by
  rw [Hierarchy.configuredAtSetAll, history, lastOf, lastOfOwn valid, laidOver, Option.or_assoc]
  by_cases root : p = []
  · simp [root]
  · simp [root, Ne.symm root]

theorem configuredAnyOrder {settings : Settings} {overrides order : List (LoggerName × Level)}
    (valid : settings.overrides = .ok overrides) (same : order.Perm overrides)
    (tree : Hierarchy) (p : List String) :
    (tree.setAll (settings.history order)).configuredAt p =
      (tree.setAll (settings.history overrides)).configuredAt p := by
  rw [Hierarchy.configuredAtSetAll, Hierarchy.configuredAtSetAll, history, history, lastOf, lastOf,
    lastOfPerm (same.map _) (segmentsDistinct valid)]

end Settings

namespace Context

theorem setLevelsHistory {context : Context} (sound : context.Sound) {tree : Hierarchy}
    {settings : Settings} (rooted : context.backend.levels = tree.set [] settings.rootLevel)
    (overrides : List (LoggerName × Level)) :
    (context.setLevels overrides).backend.levels = tree.setAll (settings.history overrides) := by
  rw [setLevelsSound sound, rooted]
  rfl

theorem applyLevelsHistory {context : Context} (sound : context.Sound) {settings : Settings}
    {overrides : List (LoggerName × Level)} (valid : settings.overrides = .ok overrides) :
    ∃ leveled, context.applyLevels settings = (.ok (), leveled) ∧
      leveled = (context.setLevel [] settings.rootLevel).setLevels overrides ∧
      leveled.backend.levels = context.backend.levels.setAll (settings.history overrides) := by
  refine ⟨_, by rw [applyLevels, valid], rfl, ?_⟩
  have rooted : (context.withLevel [] settings.rootLevel).Sound := sound
  rw [setLevelSound sound]
  exact setLevelsHistory rooted rfl overrides

theorem applySettingsHistory {context applied : Context} (sound : context.Sound)
    {settings : Settings} {overrides : List (LoggerName × Level)}
    (valid : settings.overrides = .ok overrides)
    (done : context.applySettings settings = (.ok (), applied)) :
    applied.backend.levels = context.backend.levels.setAll (settings.history overrides) := by
  have kept := configureSound sound settings.verbosity settings.path
  obtain ⟨result, configured, made, succeeded, _⟩ :=
    configureLevels sound settings.verbosity settings.path
  rw [made] at kept
  simp only [applySettings, valid, made] at done
  split at done
  · rename_i after same
    cases same
    cases done
    exact setLevelsHistory kept (succeeded rfl) overrides
  · rename_i failed
    cases done
    exact absurd rfl (failed applied)

theorem settingsLaidOverLevels {context : Context} (reachable : context.Reachable)
    {settings : Settings} (named : settings.WellNamed) :
    ∃ earlier overrides leveled,
      context.backend.levels = .setAll .empty earlier ∧
      settings.overrides = .ok overrides ∧
      context.applyLevels settings = (.ok (), leveled) ∧
      (∀ name level, leveled.level name = level ↔
        Inherits (settings.laidOver (lastOf earlier)) .off name level) ∧
      (∀ applied, context.applySettings settings = (.ok (), applied) →
        applied.backend.levels = leveled.backend.levels) ∧
      ∀ order, order.Perm overrides → ∀ name,
        ((context.setLevel [] settings.rootLevel).setLevels order).level name =
          leveled.level name ∧
        ∀ configured, context.configure settings.verbosity settings.path = (.ok (), configured) →
          (configured.setLevels order).level name = leveled.level name := by
  have sound := reachable.sound
  obtain ⟨earlier, history⟩ := reachable.history
  obtain ⟨overrides, valid⟩ := Settings.overridesOk named
  obtain ⟨leveled, done, _, laid⟩ := applyLevelsHistory sound valid
  refine ⟨earlier, overrides, leveled, history, valid, done, ?_, ?_, ?_⟩
  · intro name level
    rw [Context.level, Hierarchy.getInherits, laid]
    simp only [Settings.configuredLaidOver valid, history]
    rw [Hierarchy.configuredAtHistory]
  · intro applied succeeded
    rw [applySettingsHistory sound valid succeeded, laid]
  · intro order same name
    have anyOrder := Settings.configuredAnyOrder valid same context.backend.levels
    have rooted : (context.withLevel [] settings.rootLevel).Sound := sound
    constructor
    · rw [setLevelSound sound, Context.level, Context.level, setLevelsHistory rooted rfl, laid]
      exact Hierarchy.getCongr anyOrder name
    · intro configured made
      have kept := configureSound sound settings.verbosity settings.path
      obtain ⟨_, _, same, succeeded, _⟩ := configureLevels sound settings.verbosity settings.path
      cases made.symm.trans same
      rw [made] at kept
      rw [Context.level, Context.level, setLevelsHistory kept (succeeded rfl), laid]
      exact Hierarchy.getCongr anyOrder name

theorem rootAndNameLaidOver :
    let start : Context := ⟨⟨.empty, .lines .supplied false⟩, .start ⟨[], []⟩⟩
    let context := start.run [.setLevel [] .critical, .setLevel ["a"] .debug]
    let settings : Settings := ⟨1, none, false, .full, ⟨[("", .error), ("a.b", .info)], by decide⟩⟩
    let root : LoggerName := .root
    let below : LoggerName := ⟨["a", "b"], by decide⟩
    context.Reachable ∧ settings.WellNamed ∧
      ∃ leveled, context.applyLevels settings = (.ok (), leveled) ∧
        leveled.level ["a", "b", "c"] = .info ∧ leveled.level ["a", "c"] = .debug ∧
        leveled.level ["c"] = .error ∧
        ((context.setLevel [] .info).setLevels [(below, .info), (root, .error)]).level ["c"] =
          .error := by
  intro start context settings root below
  have reachable : context.Reachable := ⟨start, _, ⟨rfl, trivial⟩, rfl⟩
  have named : settings.WellNamed := by
    intro key inside
    rcases List.mem_pair.mp inside with rfl | rfl
    · exact ⟨root, LoggerName.readDotted root⟩
    · exact ⟨below, LoggerName.readDotted below⟩
  obtain ⟨_, overrides, leveled, _, valid, done, _, _, anyOrder⟩ :=
    settingsLaidOverLevels reachable named
  have levels : leveled = (context.applyLevels settings).2 := by rw [done]
  have given : overrides = [(root, .error), (below, .info)] := Except.ok.inj valid.symm
  have swapped := (anyOrder [(below, .info), (root, .error)] (given ▸ .swap ..) ["c"]).1
  refine ⟨reachable, named, leveled, done, ?_⟩
  subst levels
  exact ⟨by decide, by decide, by decide, swapped⟩

end Context

end LeveledLogging
