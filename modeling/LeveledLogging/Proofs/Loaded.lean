import LeveledLogging.Proofs.Precedence
import LeveledLogging.Proofs.Resolution
/-! Settings that have been loaded, wherever they come from. Whatever the document of a file may be, if
settings come out of it at all, the names in their levels can be read (`loadedNamed`). -/
namespace LeveledLogging

namespace Config

theorem settingsNamed {config : Config} {home : Option String} {settings : Settings}
    (done : config.settings home = .ok settings) : settings.WellNamed := by
  cases decoded : Settings.ofDocument ((config.merged.member? "log").getD .empty) with
  | error fault =>
    unfold Config.settings at done
    rw [decoded] at done
    cases done
  | ok between =>
    obtain ⟨named, rfl⟩ := (settingsDecoded decoded home settings).mp done
    exact named

theorem loadSettingsNamed {home : Option String} {files : FileSystem} {path : Option String}
    {entries : List (String × String)} {settings : Settings}
    (loaded : loadSettings home files path entries = .ok settings) : settings.WellNamed := by
  rw [loadSettingsStages] at loaded
  obtain ⟨config, made, done⟩ := bindOk.mp loaded
  exact settingsNamed done

end Config

namespace Command

theorem explainOk {α : Type} {task : String} {r : Except LogError α} {a : α} :
    explain task r = .ok a ↔ r = .ok a := by
  cases r <;> simp [explain]

theorem addDirectiveNamed {settings next : Settings} (named : settings.WellNamed) {text : String}
    (done : addDirective settings text = .ok next) : next.WellNamed := by
  unfold addDirective at done
  obtain ⟨levels, read, rfl⟩ := returnOk.mp done
  obtain ⟨pairs, listed, rfl⟩ := returnOk.mp (explainOk.mp read)
  have given : ∀ pair ∈ pairs, ∃ name, LoggerName.read pair.1 = .ok name := by
    rw [← Directives.listedOk listed]
    exact Directives.listedNamed
  refine Settings.namedOver (fun key => ?_) given named
  refine (Entries.findInsertAll settings.levels (Entries.ofList pairs) key).trans ?_
  rw [Entries.lastOfDistinct (Entries.ascendingOfList pairs).nodup, Entries.findOfList]

theorem loadedNamed {s : Surroundings} {options : Options} {settings : Settings}
    (loaded : loadSettings s options = .ok settings) : settings.WellNamed := by
  unfold loadSettings at loaded
  obtain ⟨base, read, added⟩ := bindOk.mp loaded
  have named := Config.loadSettingsNamed (explainOk.mp read)
  refine foldKeeps Settings.WellNamed ?_ ?_ added
  · intro text _ between next kept set
    exact addDirectiveNamed kept set
  · split
    · exact named
    · exact named

end Command

end LeveledLogging
