import LeveledLogging.Config
import LeveledLogging.Proofs.Absorption
import LeveledLogging.Proofs.Results
/-! The configurations that operations come to, one after the other, and what single operations make of
the layers. -/
namespace LeveledLogging

theorem Layer.allListed (layer : Layer) : layer ∈ all := by cases layer <;> simp [all]

namespace Config

/- What operations come to. One that fails counts with the configuration that it leaves behind. -/
inductive Reachable : Config → Prop where
  | empty : Reachable .empty
  | load {home files path config} (done : load home files path = .ok config) : Reachable config
  | autoSave {config} (before : Reachable config) (autoSave : Bool) :
    Reachable { config with autoSave }
  | setIn {config} (before : Reachable config) (layer : Layer) (key : String)
    (value : OrderedDocument) : Reachable (config.setIn layer key value).2
  | setValue {config} {α : Type} (before : Reachable config) (files : FileSystem) (key : String)
    (write : α → Except DecodeFault OrderedDocument) (value : α) :
    Reachable (config.setValue files key write value).2.1
  | environment {config entries after} (before : Reachable config)
    (done : config.withEnvironment entries = .ok after) : Reachable after

theorem ordered {config : Config} {layer : Layer} {document : Document}
    (found : config.layer layer = some document) : document.Ordered := by
  obtain ⟨stored, _, rfl⟩ := Option.map_eq_some_iff.mp found
  exact stored.ordered

theorem layerWithLayer (config : Config) (layer other : Layer) (document : Option OrderedDocument) :
    (config.withLayer layer document).layer other =
      if other = layer then document.map OrderedDocument.document else config.layer other := by
  cases layer <;> cases other <;> rfl

theorem storedDocument (config : Config) (layer : Layer) :
    ((config.stored layer).getD .empty).document = (config.layer layer).getD .empty := by
  unfold Config.layer
  cases config.stored layer <;> rfl

theorem setInCases (config : Config) (layer : Layer) (key : String) (value : OrderedDocument) :
    let document := (config.stored layer).getD .empty
    ("" ∉ Text.split '.' key ∧ config.setIn layer key value =
      (.ok (), config.withLayer layer (some (.put (Text.split '.' key) value document)))) ∨
    ("" ∈ Text.split '.' key ∧ config.setIn layer key value =
      (.error (.config (.key key)), config.withLayer layer (some document))) := by
  intro document
  by_cases incomplete : "" ∈ Text.split '.' key
  · refine .inr ⟨incomplete, ?_⟩
    simp only [setIn, Document.place, if_pos incomplete, document]
  · refine .inl ⟨incomplete, ?_⟩
    simp only [setIn, Document.place, if_neg incomplete, document]

section
variable {α : Type} {write : α → Except DecodeFault OrderedDocument} {value : α}

theorem setValueUnwritten {fault : DecodeFault} (unwritten : write value = .error fault)
    (config : Config) (files : FileSystem) (key : String) :
    config.setValue files key write value = (.error (.json fault), config, files) := by
  unfold setValue
  rw [unwritten]

theorem setValueSets {document : OrderedDocument} (written : write value = .ok document)
    (config : Config) (files : FileSystem) (key : String) :
    (config.setValue files key write value).2.1 = (config.setIn .set key document).2 := by
  unfold setValue
  rw [written]
  dsimp only
  split
  · rename_i failed
    rw [failed]
  · rename_i done
    rw [done]
    split
    · split <;> rfl
    · rfl

theorem setValueKeeps {Kept : Config → Prop} {config : Config} (files : FileSystem) (key : String)
    (before : Kept config)
    (sets : ∀ document, write value = .ok document → Kept (config.setIn .set key document).2) :
    Kept (config.setValue files key write value).2.1 := by
  cases outcome : write value with
  | error fault =>
    rw [setValueUnwritten outcome]
    exact before
  | ok document =>
    rw [setValueSets outcome]
    exact sets document outcome

end

theorem mergedOrdered (config : Config) : config.merged.Ordered := by
  refine Document.mergeAllOrdered ?_
  intro document inside
  obtain ⟨layer, _, found⟩ := List.mem_filterMap.mp inside
  exact ordered found

theorem loadLoaded {home : Option String} {files : FileSystem} {path : String} {config : Config}
    (done : load home files path = .ok config) :
    ∃ loaded, config = { empty with loaded, file := some (FilePath.expand home path) } ∧
      ∀ document ∈ loaded, document.isNull = false ∧
        readDocument files (FilePath.expand home path) = .ok document := by
  unfold load at done
  dsimp only at done
  split at done
  · cases done
    exact ⟨none, rfl, by simp⟩
  · split at done
    · cases done
    · rename_i document read
      cases done
      refine ⟨_, rfl, ?_⟩
      cases null : document.isNull with
      | true => simp
      | false => simpa [read] using null

theorem setVariableSets {config after : Config} {entry : String × String}
    (done : config.setVariable entry = .ok after) :
    after = config ∨ ∃ key value, config.setIn .environment key value = (.ok (), after) := by
  unfold setVariable at done
  obtain ⟨said, _, done⟩ := bindOk.mp done
  cases said with
  | none =>
    cases done
    exact .inl rfl
  | some pair =>
    refine .inr ⟨pair.1, pair.2, ?_⟩
    dsimp only at done
    split at done
    · rename_i set
      cases done
      exact set
    · cases done

theorem variablesKeep (Kept : Config → Prop)
    (sets : ∀ (config : Config) key value, Kept config →
      Kept (config.setIn .environment key value).2)
    {config after : Config} (start : Kept config) {entries : List (String × String)}
    (done : entries.foldlM setVariable config = .ok after) : Kept after := by
  refine foldKeeps Kept ?_ start done
  intro entry _ between next kept set
  rcases setVariableSets set with rfl | ⟨key, value, set⟩
  · exact kept
  · have later := sets between key value kept
    rwa [set] at later

end Config

end LeveledLogging
