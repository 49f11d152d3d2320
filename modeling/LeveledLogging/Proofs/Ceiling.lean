import LeveledLogging.Event.Filter
import LeveledLogging.Proofs.Delivery
import LeveledLogging.Proofs.Levels
/-! The most verbose level of some settings. No name is allowed more than that, so that the filter made
of it lets every event pass whose message was allowed. -/
namespace LeveledLogging

namespace Level

theorem leRefl (a : Level) : a ≤ a := leIff.mpr (Nat.le_refl _)

theorem leTrans {a b c : Level} (first : a ≤ b) (second : b ≤ c) : a ≤ c :=
  leIff.mpr (Nat.le_trans (leIff.mp first) (leIff.mp second))

theorem leMaxLeft (a b : Level) : a ≤ max a b := by
  rw [leIff, rankMax]
  exact Nat.le_max_left _ _

theorem leMaxRight (a b : Level) : b ≤ max a b := by
  rw [leIff, rankMax]
  exact Nat.le_max_right _ _

theorem severityMono {a b : Level} (below : a ≤ b) {severity : Severity}
    (rated : a.severity = some severity) :
    ∃ least, b.severity = some least ∧ severity.rank ≤ least.rank := by
  cases a <;> cases rated <;> cases b <;> first | contradiction | exact ⟨_, rfl, by decide⟩

end Level

namespace Settings

theorem foldMax (levels : List (String × Level)) (start : Level) :
    start ≤ levels.foldl (fun most (_, level) => max most level) start ∧
      ∀ pair ∈ levels, pair.2 ≤ levels.foldl (fun most (_, level) => max most level) start := by
  induction levels generalizing start with
  | nil => exact ⟨Level.leRefl start, by simp⟩
  | cons head rest ih =>
    obtain ⟨whole, each⟩ := ih (max start head.2)
    refine ⟨Level.leTrans (Level.leMaxLeft _ _) whole, ?_⟩
    intro pair inside
    rcases List.mem_cons.mp inside with rfl | inside
    · exact Level.leTrans (Level.leMaxRight _ _) whole
    · exact each pair inside

theorem historyBound {settings : Settings} {overrides : List (LoggerName × Level)}
    (valid : settings.overrides = .ok overrides) :
    ∀ pair ∈ settings.history overrides, pair.2 ≤ settings.maxLevel := by
  obtain ⟨root, each⟩ := foldMax settings.levels settings.rootLevel
  intro pair inside
  rcases List.mem_cons.mp inside with rfl | inside
  · exact root
  · obtain ⟨setting, there, rfl⟩ := List.mem_map.mp inside
    refine each (setting.1.dotted, setting.2) ?_
    rw [overridesIff.mp valid]
    exact List.mem_map.mpr ⟨setting, there, rfl⟩

theorem levelBound {settings : Settings} {overrides : List (LoggerName × Level)}
    (valid : settings.overrides = .ok overrides) (name : List String) :
    (Hierarchy.setAll .empty (settings.history overrides)).get name ≤ settings.maxLevel := by
  have inherits := Hierarchy.getInherits.mp
    (rfl : (Hierarchy.setAll .empty (settings.history overrides)).get name = _)
  rw [Hierarchy.configuredAtHistory] at inherits
  generalize (Hierarchy.setAll .empty (settings.history overrides)).get name = level at inherits ⊢
  cases inherits with
  | above _ found _ => exact historyBound valid _ (lastOfMember found)
  | nowhere _ => exact Level.offLe _

end Settings

namespace EventFilter

theorem readWord (filter : EventFilter) : read filter.word = some filter := by
  obtain ⟨least⟩ := filter
  cases least with
  | none => decide
  | some severity => cases severity <;> decide

theorem ofLevelPasses {most : Level} {severity : Severity} :
    (ofLevel most).passes severity = true ↔
      ∃ level, level ≤ most ∧ level.severity = some severity := by
  constructor
  · intro passes
    cases severity with
    | error => exact ⟨.critical, by revert passes; cases most <;> decide, rfl⟩
    | warning => exact ⟨.warning, by revert passes; cases most <;> decide, rfl⟩
    | info => exact ⟨.notice, by revert passes; cases most <;> decide, rfl⟩
    | debug => exact ⟨.debug, by revert passes; cases most <;> decide, rfl⟩
    | trace => cases most <;> contradiction
  · rintro ⟨level, below, rated⟩
    obtain ⟨least, found, under⟩ := Level.severityMono below rated
    simp [ofLevel, passes, found, under]

end EventFilter

namespace SubjectFilter

theorem everywhereTarget (filter : EventFilter) : ofTargets [("", filter)] = everywhere filter := by
  unfold ofTargets everywhere
  congr

theorem readWord (filter : EventFilter) : read filter.word = some (everywhere filter) := by
  have piece : (Text.split ',' filter.word).filter (· ≠ "") = [filter.word] := by
    obtain ⟨least⟩ := filter
    cases least with
    | none => decide
    | some severity => cases severity <;> decide
  have directive : readDirective filter.word = some ("", filter) := by
    rw [readDirective, EventFilter.readWord]
  simp only [read, piece, List.mapM_cons, List.mapM_nil, directive, Option.pure_def,
    Option.bind_eq_bind, Option.bind_some]
  rw [everywhereTarget]

end SubjectFilter

namespace Context

theorem applyToEvents {settings : Settings} {overrides : List (LoggerName × Level)}
    (valid : settings.overrides = .ok overrides) (outputs : Outputs) :
    let applied : Context := ⟨⟨.setAll .empty (settings.history overrides), .events⟩, outputs⟩
    applySettings ⟨BackendKind.tracing.create, outputs⟩ settings = (.ok (), applied) ∧
      applyLevels ⟨BackendKind.tracing.create, outputs⟩ settings = (.ok (), applied) := by
  intro applied
  have sound : Sound ⟨⟨.set [] settings.rootLevel .empty, .events⟩, outputs⟩ := trivial
  have levels : setLevels ⟨⟨.set [] settings.rootLevel .empty, .events⟩, outputs⟩ overrides =
      applied := setLevelsSound sound overrides
  unfold applySettings applyLevels
  rw [valid]
  exact ⟨congrArg _ levels, congrArg _ levels⟩

theorem filterPassesWhatLevelsAllow {settings : Settings} (named : settings.WellNamed)
    (outputs : Outputs) :
    ∃ applied, applySettings ⟨BackendKind.tracing.create, outputs⟩ settings = (.ok (), applied) ∧
      applyLevels ⟨BackendKind.tracing.create, outputs⟩ settings = (.ok (), applied) ∧
      (∀ name level depth message, (applied.newMessage name level depth).1 = some message →
        ∀ pairs now, ∃ severity, level.severity = some severity ∧
          (applied.send now (message.setAll pairs)).outputs =
            outputs.emit (.message severity (LoggerName.dots name) (Record.ofPairs pairs)) ∧
          (SubjectFilter.choose none settings).passes .message severity = true) ∧
      SubjectFilter.read (EventFilter.ofLevel settings.maxLevel).word =
        some (SubjectFilter.choose none settings) ∧
      ∀ subject severity, (SubjectFilter.choose none settings).passes subject severity = true ↔
        ∃ level, level ≤ settings.maxLevel ∧ level.severity = some severity := by
  obtain ⟨overrides, valid⟩ := Settings.overridesOk named
  obtain ⟨whole, levels⟩ := applyToEvents valid outputs
  let applied : Context := ⟨⟨.setAll .empty (settings.history overrides), .events⟩, outputs⟩
  have sound : applied.Sound := trivial
  refine ⟨applied, whole, levels, ?_, SubjectFilter.readWord _, fun _ _ => EventFilter.ofLevelPasses⟩
  intro name level depth message made pairs now
  rw [newMessageSound sound] at made
  obtain ⟨⟨loggable, allowed⟩, same⟩ := Option.ite_none_right_eq_some.mp made
  cases same
  let sent : Message := ⟨name, level, applied.trace, pairs⟩
  have delivers : applied.Delivers (applied.send now sent) now sent :=
    sendDelivers sound (fun _ broken => nomatch broken) now loggable
  obtain ⟨severity, rated, emitted⟩ := delivers.outputs
  refine ⟨severity, rated, emitted, EventFilter.ofLevelPasses.mpr ⟨level, ?_, rated⟩⟩
  exact Level.leTrans allowed (Settings.levelBound valid name)

theorem debugOfNamePasses :
    let settings : Settings := ⟨0, none, false, .full, ⟨[("a", .debug)], by decide⟩⟩
    let outputs : Outputs := .start ⟨[], []⟩
    let pairs : List (String × Value) := [(messageKey, .text "hello")]
    ∃ applied, applySettings ⟨BackendKind.tracing.create, outputs⟩ settings = (.ok (), applied) ∧
      (applied.newMessage ["a", "b"] .debug 0).1 = some ⟨["a", "b"], .debug, false, []⟩ ∧
      (applied.send ⟨0, 0, 0⟩ ⟨["a", "b"], .debug, false, pairs⟩).outputs =
        outputs.emit (.message .debug "a.b" (Record.ofPairs pairs)) ∧
      (SubjectFilter.choose none settings).passes .message .debug = true := by
  intro settings outputs pairs
  have named : settings.WellNamed := by
    intro key inside
    cases List.mem_singleton.mp inside
    exact ⟨_, LoggerName.readDotted ⟨["a"], by decide⟩⟩
  obtain ⟨applied, whole, _, passing, _, _⟩ := filterPassesWhatLevelsAllow named outputs
  have same : applied = (applySettings ⟨BackendKind.tracing.create, outputs⟩ settings).2 := by
    rw [whole]
  have made : (applied.newMessage ["a", "b"] .debug 0).1 = some ⟨["a", "b"], .debug, false, []⟩ := by
    rw [same]
    decide +kernel
  obtain ⟨severity, rated, sent, passes⟩ := passing _ _ _ _ made pairs ⟨0, 0, 0⟩
  cases rated
  exact ⟨applied, whole, made, sent, passes⟩

end Context

end LeveledLogging
